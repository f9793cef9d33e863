import SignalDispatch.Proofs.Directory.Connections
import SignalDispatch.Proofs.Registry.Emission
import SignalDispatch.Proofs.Registry.Growing

/-!
# What a registry shows

Where a registry keeps its signals and slots depends on its storage and on everything that happened
before.  What it shows does not: signals, each with the list of its slots, links apart.  Every call
alters what is shown of one registration, and `Registry.Alters` says into what.

`Registry.Stocks` is the other half of a call, what it does to the sizes of the two arenas.
-/

namespace SignalDispatch.Registry

/-- Some signal of the registry is this one, and these are its slots. -/
def Shows (registry : Registry) (signal : Signal) (slots : List Slot) : Prop :=
  ∃ index, registry.signalAt index = some signal ∧ registry.contents index = slots

/-- What is shown of one registration becomes another thing, or nothing; the rest stays. -/
def Alters
    (before after : Registry)
    (serial : Nat)
    (outcome : Option (Signal × List Slot)) : Prop :=
  ∀ signal slots,
    after.Shows signal slots ↔
      signal.serial ≠ serial ∧ before.Shows signal slots ∨ outcome = some (signal, slots)

/-- What a call does to the sizes of the arenas. -/
structure Stocks
    (before after : Registry)
    (signals slots : Nat → Nat) : Prop where
  signalPolicy : after.signals.policy = before.signals.policy
  slotPolicy : after.slots.policy = before.slots.policy
  signalSize : after.signals.size = signals before.signals.size
  slotSize : after.slots.size = slots before.slots.size

variable {registry before after : Registry} {index : Nat} {signal : Signal}

/-! ## Altering one registration -/

/-- A change at one index alters what is shown of the registration there. -/
theorem alters_of_views
    {serial : Nat}
    {outcome : Option (Signal × List Slot)}
    (apart :
      ∀ other found, before.signalAt other = some found → (found.serial = serial ↔ index = other))
    (signals :
      ∀ other,
        after.signalAt other =
          if index = other then outcome.map Prod.fst else before.signalAt other)
    (here : ∀ changed slots, outcome = some (changed, slots) → after.contents index = slots)
    (elsewhere : ∀ other, index ≠ other → after.contents other = before.contents other) :
    Alters before after serial outcome := by
  intro found slots
  constructor
  · rintro ⟨other, present, shown⟩
    rw [signals] at present
    split at present
    next same =>
      subst same
      rcases Option.map_eq_some_iff.mp present with ⟨⟨changed, kept⟩, there, rfl⟩
      rw [here changed kept there] at shown
      rw [← shown]
      exact Or.inr there
    next different =>
      rw [elsewhere other different] at shown
      exact Or.inl ⟨fun same => different ((apart other found present).mp same),
        other, present, shown⟩
  · rintro (⟨different, other, present, shown⟩ | there)
    · have apartHere : index ≠ other :=
        fun same => different ((apart other found present).mpr same)
      exact ⟨other, by rw [signals, if_neg apartHere]; exact present,
        (elsewhere other apartHere).trans shown⟩
    · exact ⟨index, by rw [signals, if_pos rfl, there]; rfl, here found slots there⟩

/-- In a well-formed registry a serial is at one index. -/
theorem WellFormed.serial_eq_iff
    (formed : registry.WellFormed)
    (registered : registry.signalAt index = some signal)
    (other : Nat)
    (found : Signal)
    (present : registry.signalAt other = some found) :
    found.serial = signal.serial ↔ index = other := by
  constructor
  · intro same
    exact formed.serials_apart registered present same.symm
  · rintro rfl
    rw [registered, Option.some.injEq] at present
    rw [present]

/-- A change of one signal and of its slots. -/
theorem WellFormed.alters
    {change : Signal → Signal}
    {slots : List Slot}
    (formed : before.WellFormed)
    (registered : before.signalAt index = some signal)
    (signals :
      ∀ other,
        after.signalAt other =
          if index = other then (before.signalAt other).map change else before.signalAt other)
    (here : after.contents index = slots)
    (elsewhere : ∀ other, index ≠ other → after.contents other = before.contents other) :
    Alters before after signal.serial (some (change signal, slots)) := by
  refine alters_of_views (formed.serial_eq_iff registered) ?_ ?_ elsewhere
  · intro other
    rw [signals]
    split
    next same =>
      rw [← same, registered]
      rfl
    next => rfl
  · intro changed kept same
    rw [Option.some.injEq, Prod.mk.injEq] at same
    rw [here, same.2]

/-- The last of two changes of one registration counts. -/
theorem Alters.trans
    {middle : Registry}
    {serial : Nat}
    {changed : Signal}
    {slots : List Slot}
    {outcome : Option (Signal × List Slot)}
    (first : Alters before middle serial (some (changed, slots)))
    (second : Alters middle after serial outcome)
    (same : changed.serial = serial) :
    Alters before after serial outcome := by
  intro found kept
  rw [second, first]
  refine or_congr_left ?_
  constructor
  · rintro ⟨different, ⟨_, shown⟩ | replaced⟩
    · exact ⟨different, shown⟩
    · rw [Option.some.injEq, Prod.mk.injEq] at replaced
      rw [← replaced.1] at different
      exact absurd same different
  · rintro ⟨different, shown⟩
    exact ⟨different, Or.inl ⟨different, shown⟩⟩

/-! ## Registering and ending a registration -/

/-- A registration adds a signal without slots. -/
theorem WellFormed.register_alters
    (formed : registry.WellFormed)
    {name : String}
    {description : Option String}
    {priority : Priority}
    {serial : Nat}
    (fresh : ∀ index signal, registry.signalAt index = some signal → signal.serial < serial)
    (registered : registry.register name description priority serial = .ok after) :
    Alters registry after serial
      (some
        ({ name := name, description := description, priority := priority, serial := serial },
          [])) := by
  rcases register_spec formed registered with ⟨_, slots, _, _, place, vacant, signals⟩
  have chain := (register_chained formed registered).chain_eq
  have contents (other : Nat) : after.contents other = registry.contents other := by
    rw [Registry.contents, chain, slots, Registry.contents]
  refine @alters_of_views _ _ place _ _ ?_ ?_ ?_ fun other _ => contents other
  · intro other found present
    constructor
    · intro same
      exact absurd same (Nat.ne_of_lt (fresh other found present))
    · rintro rfl
      rw [(signalAt_eq_none_iff _ _).mpr vacant] at present
      cases present
  · intro other
    rw [signalAt, signals]
    split <;> rfl
  · intro changed kept same
    rw [Option.some.injEq, Prod.mk.injEq] at same
    rw [← same.2, contents, Registry.contents, formed.chained.unregistered vacant]
    rfl

theorem register_stocks
    {name : String}
    {description : Option String}
    {priority : Priority}
    {serial : Nat}
    (registered : registry.register name description priority serial = .ok after) :
    Stocks registry after Nat.succ id := by
  rw [register] at registered
  split at registered
  · cases registered
  · dsimp only at registered
    split at registered
    · cases registered
    next signals inserted =>
      cases registered
      rcases (Arena.insert_eq_ok_iff _ _ _ _).mp inserted with ⟨_, rfl⟩
      exact ⟨rfl, rfl, rfl, rfl⟩

/-- The end of a registration takes its signal away and hands back its slots. -/
theorem WellFormed.unregister_alters
    (formed : registry.WellFormed)
    {name : String}
    {released : List Slot}
    (done : registry.unregister name = .ok (after, released)) :
    ∃ signal slots, registry.Shows signal slots ∧ signal.name = name ∧
      Alters registry after signal.serial none ∧ released.map Slot.content = slots := by
  rcases formed.unregister done with ⟨place, signal, registered, named, drops, _, values⟩
  refine ⟨signal, _, ⟨place, registered, rfl⟩, named, ?_, values⟩
  refine alters_of_views (formed.serial_eq_iff registered) drops.signals ?_ ?_
  · intro changed kept same
    cases same
  · intro other different
    rw [contents, drops.chain, Function.update_of_ne (Ne.symm different), contents]
    refine contentsOf_congr ?_
    intro position member
    rw [drops.slots, if_neg]
    exact fun inside => different (formed.chained.apart inside member)

/-! ## Sizes after removals -/

/-- Every value that is taken out makes an arena smaller by one. -/
theorem size_removeAll {α : Type} (arena : Arena α) (indices : List Nat) :
    (arena.removeAll indices).2.size = arena.size - (arena.removeAll indices).1.length := by
  induction indices generalizing arena with
  | nil => rfl
  | cons first rest ih =>
      rw [Arena.removeAll]
      cases removed : arena.remove? first with
      | none => exact ih arena
      | some result =>
          rcases result with ⟨value, left⟩
          have vacated := ((Arena.remove?_eq_some_iff _ _ _ _).mp removed).2
          dsimp only
          rw [ih left, vacated, List.length_cons, Arena.vacate]
          dsimp only
          omega

theorem size_foldl_bury (registry : Registry) (positions : List Nat) :
    (positions.foldl bury registry).slots.size = registry.slots.size := by
  induction positions generalizing registry with
  | nil => rfl
  | cons first rest ih => exact ih (registry.bury first)

theorem freeChain_stocks (registry : Registry) (index : Nat) :
    Stocks registry (registry.freeChain index).1 id
      (· - (registry.freeChain index).2.length) :=
  ⟨rfl, Arena.policy_removeAll _ _, rfl, size_removeAll _ _⟩

theorem unregister_stocks
    {name : String}
    {released : List Slot}
    (done : registry.unregister name = .ok (after, released)) :
    Stocks registry after Nat.pred (· - released.length) := by
  rw [Registry.unregister] at done
  cases located : registry.lookup name with
  | error fault =>
      rw [located] at done
      cases done
  | ok index =>
      rw [located] at done
      cases done
      have freed := registry.freeChain_stocks index
      exact ⟨freed.signalPolicy, freed.slotPolicy, congrArg Nat.pred freed.signalSize,
        freed.slotSize⟩

theorem unlink_stocks (registry : Registry) (index position : Nat) :
    Stocks registry (registry.unlink index position).1 id
      (· - (registry.unlink index position).2.length) := by
  have policy := Arena.policy_removeAll
    (thread registry.slots ((registry.chain index).erase position)) [position]
  have size := size_removeAll
    (thread registry.slots ((registry.chain index).erase position)) [position]
  rw [policy_thread] at policy
  rw [size_thread] at size
  exact ⟨rfl, policy, rfl, size⟩

theorem retire_stocks (registry : Registry) (index position : Nat) :
    Stocks registry (registry.retire index position).1 id
      (· - (registry.retire index position).2.length) := by
  rw [retire]
  cases registry.signals.get? index with
  | none => exact ⟨rfl, rfl, rfl, rfl⟩
  | some signal =>
      dsimp only
      split
      · have unlinked := unlink_stocks
          { registry with
            signals := registry.signals.modify index fun signal =>
              { signal with live := signal.live - 1 } }
          index position
        exact ⟨unlinked.signalPolicy, unlinked.slotPolicy, unlinked.signalSize,
          unlinked.slotSize⟩
      · exact ⟨rfl, rfl, rfl, rfl⟩

theorem retireAll_stocks (registry : Registry) (index : Nat) :
    Stocks registry (registry.retireAll index).2.1 id
      (· - (registry.retireAll index).2.2.length) := by
  rw [retireAll]
  cases registry.signals.get? index with
  | none => exact ⟨rfl, rfl, rfl, rfl⟩
  | some signal =>
      dsimp only
      split
      · exact registry.freeChain_stocks index
      · rcases policy_foldl_bury registry (registry.chain index) with ⟨signals, slots⟩
        have size : ((registry.chain index).foldl bury registry).signals.size =
            registry.signals.size := by
          rw [(foldl_bury registry (registry.chain index)).1]
        exact ⟨signals, slots, size, size_foldl_bury _ _⟩

theorem sweep_stocks (registry : Registry) (index : Nat) :
    Stocks registry (registry.sweep index).1 id (· - (registry.sweep index).2.length) := by
  rw [sweep]
  cases registry.signals.get? index with
  | none => exact ⟨rfl, rfl, rfl, rfl⟩
  | some signal =>
      dsimp only
      split
      · refine ⟨rfl, (Arena.policy_removeAll _ _).trans (policy_thread _ _), rfl,
          (size_removeAll _ _).trans ?_⟩
        exact congrArg (· - _) (size_thread _ _)
      · exact ⟨rfl, rfl, rfl, rfl⟩

theorem endEmission_stocks
    (registry : Registry)
    (signalRef : SignalRef)
    (elapsed : Option Nat) :
    Stocks registry (registry.endEmission signalRef elapsed).1 id
      (· - (registry.endEmission signalRef elapsed).2.length) := by
  rw [endEmission]
  cases registry.resolve? signalRef with
  | none => exact ⟨rfl, rfl, rfl, rfl⟩
  | some signal =>
      have swept := sweep_stocks
        { registry with signals := registry.signals.modify signalRef.index (exited elapsed) }
        signalRef.index
      exact ⟨swept.signalPolicy, swept.slotPolicy, swept.signalSize, swept.slotSize⟩

/-! ## Connecting and removing slots -/

/-- A connection inserts its slot. -/
theorem WellFormed.attach_alters
    (formed : registry.WellFormed)
    (registered : registry.signalAt index = some signal)
    {slot : Slot}
    (live : slot.removed = false)
    (latest :
      ∀ position other, contentAt registry.slots position = some other →
        other.handle.number < slot.handle.number)
    (attached : registry.attach index slot = .ok after) :
    Alters registry after signal.serial
      (some
        ({ signal with live := signal.live + 1 },
          slot.content.insertedInto (registry.contents index))) := by
  rcases formed.attach registered live latest attached with ⟨_, position, attaches⟩
  refine formed.alters registered attaches.signals ?_ ?_
  · rw [attaches.contents_eq formed, if_pos rfl]
  · intro other different
    rw [attaches.contents_eq formed, if_neg different]

theorem attach_stocks
    {slot : Slot}
    (attached : registry.attach index slot = .ok after) :
    Stocks registry after id Nat.succ := by
  rw [attach] at attached
  split at attached
  · cases attached
  next position slots inserted =>
    cases attached
    rcases (Arena.insert_eq_ok_iff _ _ _ _).mp inserted with ⟨_, rfl⟩
    exact ⟨rfl, policy_thread _ _, rfl, size_thread _ _⟩

/-- What the removal of a slot shows afterwards: a tombstone is left while the signal is being
emitted. -/
def shortened (signal : Signal) (passed : List Slot) (slot : Slot) (rest : List Slot) :
    Signal × List Slot :=
  if signal.emitting = 0 then ({ signal with live := signal.live - 1 }, passed ++ rest)
  else
    ({ signal with live := signal.live - 1, tombstones := signal.tombstones + 1 },
      passed ++ slot.buried :: rest)

/-- A removal takes the first slot that it accepts. -/
theorem WellFormed.retire_alters
    (formed : registry.WellFormed)
    (registered : registry.signalAt index = some signal)
    {accepts : Slot → Bool}
    (plain : ∀ slot : Slot, accepts slot.content = accepts slot)
    {position : Nat}
    (first : registry.firstLive? index accepts = some position) :
    ∃ passed slot rest,
      registry.contents index = passed ++ slot :: rest ∧
        (∀ other ∈ passed, ¬ (other.removed = false ∧ accepts other = true)) ∧
        (slot.removed = false ∧ accepts slot = true) ∧
        Alters registry (registry.retire index position).1 signal.serial
          (some (shortened signal passed slot rest)) ∧
        (registry.retire index position).2.map Slot.content =
          if signal.emitting = 0 then [slot] else [] := by
  rcases firstLive?_eq_some first with
    ⟨passed, rest, slot, chain, stored, ⟨live, accepted⟩, refused⟩
  have distinct := formed.chained.distinct index
  have member : position ∈ registry.chain index := by
    rw [chain]
    exact List.mem_append_right _ List.mem_cons_self
  have content := contentAt_of_get? stored
  refine ⟨contentsOf registry.slots passed, slot.content, contentsOf registry.slots rest, ?_, ?_,
    ⟨live, (plain slot).trans accepted⟩, ?_⟩
  · rw [contents, chain, contentsOf_append, contentsOf_cons content]
  · intro other among both
    rcases (mem_contentsOf_iff _ _ _).mp among with ⟨place, inside, found⟩
    rcases (contentAt_eq_some_iff _ _ _).mp found with ⟨kept, there, rfl⟩
    exact refused place inside kept there ⟨both.1, (plain kept).symm.trans both.2⟩
  · rcases (signalAt_eq_some_iff _ _ _).mp registered with ⟨raw, present, rfl⟩
    rw [shortened]
    by_cases idle : raw.content.emitting = 0
    · rw [if_pos idle, if_pos idle]
      rcases formed.retire_idle present idle member content live with ⟨detaches, _, values⟩
      refine ⟨formed.alters registered detaches.signals ?_ ?_, values⟩
      · have outside : position ∉ passed := by
          rw [chain, List.nodup_middle, List.nodup_cons, List.mem_append, not_or] at distinct
          exact distinct.1.1
        rw [detaches.contents_eq formed, if_pos rfl, chain, List.erase_append_right _ outside,
          List.erase_cons_head, contentsOf_append]
      · intro other different
        rw [detaches.contents_eq formed, if_neg different]
    · rw [if_neg idle, if_neg idle]
      rcases formed.retire_emitting present idle member content live with ⟨buries, _, values⟩
      refine ⟨formed.alters registered buries.signals ?_ ?_, ?_⟩
      · exact buries.contents_eq chain distinct content
      · intro other different
        exact buries.contents_of_ne formed different
      · rw [values]
        rfl

/-- What a removal of all slots of a signal shows afterwards. -/
def emptied (signal : Signal) (slots : List Slot) : Signal × List Slot :=
  if signal.emitting = 0 then ({ signal with head := none, live := 0, tombstones := 0 }, [])
  else
    ({ signal with live := 0, tombstones := signal.tombstones + signal.live },
      slots.map Slot.buried)

/-- A removal of all slots empties its signal. -/
theorem WellFormed.retireAll_alters
    (formed : registry.WellFormed)
    (registered : registry.signalAt index = some signal) :
    Alters registry (registry.retireAll index).2.1 signal.serial
        (some (emptied signal (registry.contents index))) ∧
      (registry.retireAll index).2.2.map Slot.content =
        if signal.emitting = 0 then registry.contents index else [] := by
  rcases (signalAt_eq_some_iff _ _ _).mp registered with ⟨raw, present, rfl⟩
  rw [emptied]
  by_cases idle : raw.content.emitting = 0
  · rcases formed.freeChain present with ⟨detaches, _, values⟩
    rw [retireAll_idle present idle, if_pos idle, if_pos idle]
    refine ⟨formed.alters registered detaches.signals ?_ ?_, values⟩
    · rw [detaches.contents_eq formed, if_pos rfl]
      rfl
    · intro other different
      rw [detaches.contents_eq formed, if_neg different]
  · rcases formed.retireAll_emitting present idle with ⟨buries, _, _, values⟩
    rw [if_neg idle, if_neg idle]
    refine ⟨formed.alters registered buries.signals ?_ ?_, ?_⟩
    · exact buries.contents_of_all rfl
    · intro other different
      exact buries.contents_of_ne formed different
    · rw [values]
      rfl

/-! ## Emissions -/

/-- A change of one signal, seen at every index. -/
theorem Adjusts.signals_onlyAt
    {change : Signal → Signal}
    (adjusts : Adjusts before after (onlyAt index change))
    (other : Nat) :
    after.signalAt other =
      if index = other then (before.signalAt other).map change else before.signalAt other := by
  rw [adjusts.signals]
  cases before.signalAt other with
  | none => rw [Option.map_none, Option.map_none, ite_self]
  | some found =>
      rw [Option.map_some, Option.map_some, onlyAt]
      split <;> rfl

/-- An emission that begins enters the signal of its name, at its first slot. -/
theorem WellFormed.beginEmission_alters
    (formed : registry.WellFormed)
    {name : String}
    {signalRef : SignalRef}
    {head : Option Nat}
    (begun : registry.beginEmission name = .ok (after, signalRef, head)) :
    ∃ signal, registry.signalAt signalRef.index = some signal ∧ signal.name = name ∧
      signal.serial = signalRef.serial ∧
      head = (registry.chain signalRef.index).head? ∧
      after.chain = registry.chain ∧ after.slots = registry.slots ∧
      Alters registry after signal.serial
        (some (entered signal, registry.contents signalRef.index)) := by
  rcases formed.beginEmission begun with
    ⟨_, first, ⟨raw, present, serial, named⟩, adjusts, _⟩
  have registered := signalAt_of_get? present
  refine ⟨raw.content, registered, named, serial, first, adjusts.chain, adjusts.slots, ?_⟩
  exact formed.alters registered adjusts.signals_onlyAt (adjusts.contents_eq _) fun other _ =>
    adjusts.contents_eq other

theorem beginEmission_stocks
    {name : String}
    {signalRef : SignalRef}
    {head : Option Nat}
    (begun : registry.beginEmission name = .ok (after, signalRef, head)) :
    Stocks registry after id id := by
  rw [Registry.beginEmission] at begun
  split at begun
  · cases begun
  · split at begun
    · cases begun
    · cases begun
      exact ⟨rfl, rfl, rfl, rfl⟩

/-- What a sweep shows afterwards, if it is due. -/
def swept (signal : Signal) (slots : List Slot) : Signal × List Slot :=
  if signal.emitting = 0 ∧ 0 < signal.tombstones then
    ({ signal with tombstones := 0 }, slots.filter fun slot => !slot.removed)
  else (signal, slots)

/-- The slots that a sweep takes away. -/
def sweptAway (signal : Signal) (slots : List Slot) : List Slot :=
  if signal.emitting = 0 ∧ 0 < signal.tombstones then slots.filter Slot.removed else []

/-- Nothing is altered. -/
theorem WellFormed.alters_of_same
    (formed : registry.WellFormed)
    (registered : registry.signalAt index = some signal) :
    Alters registry registry signal.serial (some (signal, registry.contents index)) := by
  refine alters_of_views (formed.serial_eq_iff registered) ?_ ?_ fun _ _ => rfl
  · intro other
    split
    next same => rw [← same, registered, Option.map_some]
    next => rfl
  · intro changed slots same
    rw [Option.some.injEq, Prod.mk.injEq] at same
    exact same.2

/-- Sweeping takes the tombstones of an idle signal away. -/
theorem WellFormed.sweep_alters
    (formed : registry.WellFormed)
    (registered : registry.signalAt index = some signal) :
    Alters registry (registry.sweep index).1 signal.serial
        (some (swept signal (registry.contents index))) ∧
      (registry.sweep index).2.map Slot.content =
        sweptAway signal (registry.contents index) := by
  rcases (signalAt_eq_some_iff _ _ _).mp registered with ⟨raw, present, rfl⟩
  rw [swept, sweptAway]
  by_cases due : raw.content.emitting = 0 ∧ 0 < raw.content.tombstones
  · rcases formed.sweep present due with ⟨detaches, _, kept, values⟩
    rw [if_pos due, if_pos due]
    refine ⟨formed.alters registered detaches.signals kept ?_, values⟩
    intro other different
    rw [detaches.contents_eq formed, if_neg different]
  · rw [sweep_of_not present due, if_neg due, if_neg due]
    exact ⟨formed.alters_of_same registered, rfl⟩

/-- An emission that leaves its signal lowers the depth and sweeps. -/
theorem WellFormed.endEmission_alters
    (formed : registry.WellFormed)
    {signalRef : SignalRef}
    (registered : registry.signalAt signalRef.index = some signal)
    (serial : signal.serial = signalRef.serial)
    (elapsed : Option Nat) :
    Alters registry (registry.endEmission signalRef elapsed).1 signal.serial
        (some (swept (exited elapsed signal) (registry.contents signalRef.index))) ∧
      (registry.endEmission signalRef elapsed).2.map Slot.content =
        sweptAway (exited elapsed signal) (registry.contents signalRef.index) := by
  rcases (signalAt_eq_some_iff _ _ _).mp registered with ⟨raw, present, rfl⟩
  have resolved : registry.resolve? signalRef = some raw :=
    (resolve?_eq_some_iff _ _ _).mpr ⟨present, serial⟩
  rcases formed.endEmission resolved elapsed with ⟨left, adjusts, formedLeft, there, ended⟩
  have lowered : Alters registry left raw.content.serial
      (some (exited elapsed raw.content, registry.contents signalRef.index)) := by
    refine formed.alters registered (adjusts.signals_onlyAt) (adjusts.contents_eq _) fun other _ =>
      adjusts.contents_eq other
  have contents := adjusts.contents_eq signalRef.index
  have view : left.signalAt signalRef.index = some (exited elapsed raw.content) :=
    signalAt_of_get? there
  rcases formedLeft.sweep_alters view with ⟨swept, values⟩
  rw [contents] at swept values
  rw [ended]
  exact ⟨lowered.trans swept rfl, values⟩

end SignalDispatch.Registry
