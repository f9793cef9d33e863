import SignalDispatch.Proofs.Bus.Shift
import SignalDispatch.Proofs.Registry.Retention

/-!
# The registry behind a bus

A bus without registry has no signals, slots or chains; with this reading a bus is as good as a
registry, and `Bus.Retains` says of two states of a bus what `Registry.Retains` says of two
registries.  A sane bus numbers its slots and registrations below its counters, so that what a call
adds is told apart from everything that was there.

`Shifts.sane` and `Shifts.retains` are what every call preserves.
-/

namespace SignalDispatch.Bus

/-- The signal at an index, links apart; none while the bus is not initialized. -/
def signalAt (bus : Bus) (index : Nat) : Option Signal :=
  bus.registry.bind fun registry => registry.signalAt index

/-- The slot at a position, links apart. -/
def slotAt (bus : Bus) (position : Nat) : Option Slot :=
  bus.registry.bind fun registry => Registry.contentAt registry.slots position

/-- The chain of the signal at an index. -/
def chain (bus : Bus) (index : Nat) : List Nat :=
  match bus.registry with
  | none => []
  | some registry => registry.chain index

section Views

variable {bus : Bus} {registry : Registry}

theorem signalAt_of_some (present : bus.registry = some registry) (index : Nat) :
    bus.signalAt index = registry.signalAt index := by
  rw [signalAt, present, Option.bind_some]

theorem slotAt_of_some (present : bus.registry = some registry) (position : Nat) :
    bus.slotAt position = Registry.contentAt registry.slots position := by
  rw [slotAt, present, Option.bind_some]

theorem slotAt_of_get?
    {position : Nat}
    {slot : Slot}
    (present : bus.registry = some registry)
    (stored : registry.slots.get? position = some slot) :
    bus.slotAt position = some slot.content :=
  (slotAt_of_some present position).trans (Registry.contentAt_of_get? stored)

theorem signalAt_of_get?
    {index : Nat}
    {signal : Signal}
    (present : bus.registry = some registry)
    (stored : registry.signals.get? index = some signal) :
    bus.signalAt index = some signal.content :=
  (signalAt_of_some present index).trans (Registry.signalAt_of_get? stored)

theorem chain_of_some (present : bus.registry = some registry) (index : Nat) :
    bus.chain index = registry.chain index := by
  rw [chain, present]

theorem signalAt_of_none (absent : bus.registry = none) (index : Nat) :
    bus.signalAt index = none := by
  rw [signalAt, absent, Option.bind_none]

theorem slotAt_of_none (absent : bus.registry = none) (position : Nat) :
    bus.slotAt position = none := by
  rw [slotAt, absent, Option.bind_none]

theorem signalAt_congr {other : Bus} (same : other.registry = bus.registry) :
    other.signalAt = bus.signalAt := by
  funext index
  rw [signalAt, same, signalAt]

theorem slotAt_congr {other : Bus} (same : other.registry = bus.registry) :
    other.slotAt = bus.slotAt := by
  funext position
  rw [slotAt, same, slotAt]

theorem chain_congr {other : Bus} (same : other.registry = bus.registry) :
    other.chain = bus.chain := by
  funext index
  rw [chain, same, chain]

end Views

/-! ## Sane buses -/

/-- The registry is sane, and the counters are ahead of everything in it. -/
structure Sane (bus : Bus) : Prop where
  registry : ∀ {registry}, bus.registry = some registry → registry.Sane
  handles :
    ∀ {position slot}, bus.slotAt position = some slot → slot.handle.number < bus.nextHandle
  serials :
    ∀ {index signal}, bus.signalAt index = some signal → signal.serial < bus.nextSerial

namespace Sane

variable {bus : Bus}

/-- A bus without registry is sane. -/
theorem of_none (absent : bus.registry = none) : bus.Sane where
  registry := by
    intro registry present
    rw [absent] at present
    cases present
  handles := by
    intro position slot found
    rw [slotAt_of_none absent] at found
    cases found
  serials := by
    intro index signal present
    rw [signalAt_of_none absent] at present
    cases present

theorem ofConfig (backend : Backend) (config : Config) : (Bus.ofConfig backend config).Sane :=
  of_none rfl

/-- A slot of a chain is stored. -/
theorem slotAt_of_mem
    (sane : bus.Sane)
    {index position : Nat}
    (member : position ∈ bus.chain index) :
    ∃ slot, bus.slotAt position = some slot := by
  cases present : bus.registry with
  | none =>
      rw [chain, present] at member
      cases member
  | some registry =>
      rw [chain_of_some present] at member
      rcases (sane.registry present).formed.content_of_mem member with ⟨slot, found, _⟩
      exact ⟨slot, (slotAt_of_some present position).trans found⟩

/-- Different slots have different handles. -/
theorem handles_apart
    (sane : bus.Sane)
    {left right : Nat}
    {first second : Slot}
    (leftFound : bus.slotAt left = some first)
    (rightFound : bus.slotAt right = some second)
    (same : first.handle = second.handle) :
    left = right := by
  cases present : bus.registry with
  | none =>
      rw [slotAt_of_none present] at leftFound
      cases leftFound
  | some registry =>
      rw [slotAt_of_some present] at leftFound rightFound
      exact (sane.registry present).formed.handles_apart leftFound rightFound same

/-- Of two slots in a chain the one that comes first goes before the other. -/
theorem before_of_sublist
    (sane : bus.Sane)
    {index left right : Nat}
    {first second : Slot}
    (order : [left, right].Sublist (bus.chain index))
    (leftFound : bus.slotAt left = some first)
    (rightFound : bus.slotAt right = some second) :
    first.Before second := by
  cases present : bus.registry with
  | none =>
      rw [slotAt_of_none present] at leftFound
      cases leftFound
  | some registry =>
      rw [chain_of_some present] at order
      rw [slotAt_of_some present] at leftFound rightFound
      have ordered := (sane.registry present).formed.ordered index
      rw [Registry.contents, Registry.contentsOf, List.pairwise_filterMap] at ordered
      have pair := ordered.sublist order
      rw [List.pairwise_pair] at pair
      exact pair first leftFound second rightFound

section Split

variable {index position other : Nat} {passed rest : List Nat} {slot content : Slot}

/-- A slot goes before the ones behind it in the chain. -/
theorem before_of_mem_rest
    (sane : bus.Sane)
    (chain : bus.chain index = passed ++ position :: rest)
    (member : other ∈ rest)
    (found : bus.slotAt position = some slot)
    (found' : bus.slotAt other = some content) :
    slot.Before content := by
  have order : [position, other].Sublist (bus.chain index) := by
    rw [chain]
    exact ((List.singleton_sublist.mpr member).cons_cons position).trans
      (List.sublist_append_right _ _)
  exact sane.before_of_sublist order found found'

/-- The slots passed on the way to a slot go before it. -/
theorem before_of_mem_passed
    (sane : bus.Sane)
    (chain : bus.chain index = passed ++ position :: rest)
    (member : other ∈ passed)
    (found : bus.slotAt position = some slot)
    (found' : bus.slotAt other = some content) :
    content.Before slot := by
  have order : [other, position].Sublist (bus.chain index) := by
    rw [chain]
    exact (List.singleton_sublist.mpr member).append
      (List.singleton_sublist.mpr List.mem_cons_self)
  exact sane.before_of_sublist order found' found

end Split

end Sane

/-! ## What calls keep -/

/-- What two states of a bus have in common; `depth` is what happened to the depths in between. -/
structure Retains (depth : Nat → Nat → Nat) (before after : Bus) : Prop where
  counts : CountsOn before after
  signals :
    ∀ {index signal}, after.signalAt index = some signal →
      (∃ earlier, before.signalAt index = some earlier ∧ signal.serial = earlier.serial ∧
        signal.name = earlier.name ∧ signal.emitting = depth index earlier.emitting) ∨
      (before.nextSerial ≤ signal.serial ∧ signal.emitting = 0)
  slots :
    ∀ {position slot}, after.slotAt position = some slot →
      (∃ earlier, before.slotAt position = some earlier ∧ slot.Outlasts earlier) ∨
      (before.slotAt position = none ∧ before.nextHandle ≤ slot.handle.number ∧
        slot.removed = false)
  chains :
    ∀ {index earlier signal},
      before.signalAt index = some earlier → after.signalAt index = some signal →
        earlier.emitting ≠ 0 → signal.emitting ≠ 0 →
          (before.chain index).Sublist (after.chain index)

namespace Retains

variable {before after : Bus}

/-- The registry was replaced by one that retains it. -/
theorem of_registry
    {registry next : Registry}
    {depth : Nat → Nat → Nat}
    {handle serial : Option Nat}
    (present : before.registry = some registry)
    (replaced : after.registry = some next)
    (counts : CountsOn before after)
    (retains : Registry.Retains depth handle serial registry next)
    (drawnHandle : ∀ number, handle = some number → before.nextHandle ≤ number)
    (drawnSerial : ∀ number, serial = some number → before.nextSerial ≤ number) :
    Retains depth before after where
  counts := counts
  signals := by
    intro index signal
    rw [signalAt_of_some present, signalAt_of_some replaced]
    intro found
    rcases retains.signals found with earlier | ⟨drawn, idle⟩
    · exact Or.inl earlier
    · exact Or.inr ⟨drawnSerial _ drawn, idle⟩
  slots := by
    intro position slot
    rw [slotAt_of_some present, slotAt_of_some replaced]
    intro found
    rcases retains.slots found with earlier | ⟨vacant, drawn, live⟩
    · exact Or.inl earlier
    · exact Or.inr ⟨vacant, drawnHandle _ drawn, live⟩
  chains := by
    intro index earlier signal
    rw [signalAt_of_some present, signalAt_of_some replaced, chain_of_some present,
      chain_of_some replaced]
    exact retains.chains

/-- The registry stayed as it was. -/
theorem of_same (same : after.registry = before.registry) (counts : CountsOn before after) :
    Retains Registry.sameDepth before after where
  counts := counts
  signals := by
    intro index signal found
    rw [signalAt_congr same] at found
    exact Or.inl ⟨signal, found, rfl, rfl, rfl⟩
  slots := by
    intro position slot found
    rw [slotAt_congr same] at found
    exact Or.inl ⟨slot, found, .refl slot⟩
  chains := by
    intro index earlier signal _ _ _ _
    rw [chain_congr same]

/-- Nothing is registered afterwards. -/
theorem of_empty
    (signals : ∀ index, after.signalAt index = none)
    (slots : ∀ position, after.slotAt position = none)
    (counts : CountsOn before after) :
    Retains Registry.sameDepth before after where
  counts := counts
  signals := by
    intro index signal found
    rw [signals] at found
    cases found
  slots := by
    intro position slot found
    rw [slots] at found
    cases found
  chains := by
    intro index earlier signal _ found
    rw [signals] at found
    cases found

end Retains

/-- A bus stays sane when its registry is replaced by a sane one that retains it and the counters
pass what was added. -/
theorem Sane.replace
    {before after : Bus}
    (sane : before.Sane)
    {registry next : Registry}
    {depth : Nat → Nat → Nat}
    {handle serial : Option Nat}
    (present : before.registry = some registry)
    (replaced : after.registry = some next)
    (counts : CountsOn before after)
    (kept : next.Sane ∧ Registry.Retains depth handle serial registry next)
    (drawnHandle :
      ∀ number, handle = some number → before.nextHandle ≤ number ∧ number < after.nextHandle)
    (drawnSerial :
      ∀ number, serial = some number → before.nextSerial ≤ number ∧ number < after.nextSerial) :
    after.Sane ∧ Retains depth before after := by
  rcases kept with ⟨saneNext, retains⟩
  refine ⟨⟨?_, ?_, ?_⟩, .of_registry present replaced counts retains
    (fun number drawn => (drawnHandle number drawn).1)
    fun number drawn => (drawnSerial number drawn).1⟩
  · intro other found
    rw [replaced, Option.some.injEq] at found
    exact found ▸ saneNext
  · intro position slot found
    rw [slotAt_of_some replaced] at found
    rcases retains.slots found with ⟨earlier, stored, outlasts⟩ | ⟨_, drawn, _⟩
    · rw [outlasts.handle_eq]
      exact Nat.lt_of_lt_of_le
        (sane.handles ((slotAt_of_some present position).trans stored)) counts.nextHandle
    · exact (drawnHandle _ drawn).2
  · intro index signal found
    rw [signalAt_of_some replaced] at found
    rcases retains.signals found with ⟨earlier, stored, same, _⟩ | ⟨drawn, _⟩
    · rw [same]
      exact Nat.lt_of_lt_of_le
        (sane.serials ((signalAt_of_some present index).trans stored)) counts.nextSerial
    · exact (drawnSerial _ drawn).2

/-- The registry is replaced, and nothing was drawn for it. -/
theorem Sane.replace_undrawn
    {before after : Bus}
    (sane : before.Sane)
    {registry next : Registry}
    {depth : Nat → Nat → Nat}
    (present : before.registry = some registry)
    (replaced : after.registry = some next)
    (counts : CountsOn before after)
    (kept : next.Sane ∧ Registry.Retains depth none none registry next) :
    after.Sane ∧ Retains depth before after := by
  refine sane.replace present replaced counts kept ?_ ?_
  · intro number drawn
    cases drawn
  · intro number drawn
    cases drawn

/-- The registry alone is replaced. -/
theorem Sane.setRegistry
    {before : Bus}
    (sane : before.Sane)
    {registry next : Registry}
    {depth : Nat → Nat → Nat}
    (present : before.registry = some registry)
    (kept : next.Sane ∧ Registry.Retains depth none none registry next) :
    (before.setRegistry next).Sane ∧ Retains depth before (before.setRegistry next) :=
  sane.replace_undrawn present rfl ⟨Nat.le_refl _, Nat.le_refl _⟩ kept

/-- Every call keeps a bus sane and retains what it does not remove. -/
theorem Shifts.sane
    {operation : Option Operation}
    {before after : Bus}
    (sane : before.Sane)
    (shifts : Shifts operation before after) :
    after.Sane ∧ Retains Registry.sameDepth before after := by
  cases shifts with
  | keep same counts =>
      refine ⟨⟨?_, ?_, ?_⟩, .of_same same counts⟩
      · intro registry present
        exact sane.registry (same ▸ present)
      · intro position slot found
        rw [slotAt_congr same] at found
        exact Nat.lt_of_lt_of_le (sane.handles found) counts.nextHandle
      · intro index signal found
        rw [signalAt_congr same] at found
        exact Nat.lt_of_lt_of_le (sane.serials found) counts.nextSerial
  | init absent =>
      have signals (index : Nat) :
          (before.setRegistry before.backend.registry).signalAt index = none :=
        Registry.signalAt_empty _ _ index
      have slots (position : Nat) :
          (before.setRegistry before.backend.registry).slotAt position = none :=
        Registry.contentAt_empty _ _ position
      refine ⟨⟨?_, ?_, ?_⟩, .of_empty signals slots ⟨Nat.le_refl _, Nat.le_refl _⟩⟩
      · intro registry present
        cases present
        exact .empty _ _
      · intro position slot found
        rw [slots] at found
        cases found
      · intro index signal found
        rw [signals] at found
        cases found
  | cleanup absent counts =>
      exact ⟨.of_none absent,
        .of_empty (signalAt_of_none absent) (slotAt_of_none absent) counts⟩
  | @register _ _ registry next _ _ _ present registered =>
      have fresh := @sane.serials
      simp only [signalAt_of_some present] at fresh
      have kept :
          next.Sane ∧
            Registry.Retains Registry.sameDepth none (some before.nextSerial) registry next :=
        (sane.registry present).register (fun _ _ found => fresh found) registered
      refine sane.replace present rfl ⟨Nat.le_refl _, Nat.le_succ _⟩ kept ?_ ?_
      · intro number drawn
        cases drawn
      · intro number drawn
        cases drawn
        exact ⟨Nat.le_refl _, Nat.lt_succ_self _⟩
  | unregister present done =>
      exact sane.setRegistry present ((sane.registry present).unregister done)
  | @connect _ _ registry next _ _ slot present located issued live attached =>
      have latest := @sane.handles
      simp only [slotAt_of_some present] at latest
      have kept :
          next.Sane ∧
            Registry.Retains Registry.sameDepth (some slot.handle.number) none registry next := by
        refine (sane.registry present).attach located live ?_ attached
        intro position other found
        rw [issued]
        exact latest found
      refine sane.replace present rfl ⟨Nat.le_succ _, Nat.le_refl _⟩ kept ?_ ?_
      · intro number drawn
        rw [issued] at drawn
        cases drawn
        exact ⟨Nat.le_refl _, Nat.lt_succ_self _⟩
      · intro number drawn
        cases drawn
  | retire present first =>
      exact sane.setRegistry present ((sane.registry present).retire first)
  | retireAll present located =>
      exact sane.setRegistry present ((sane.registry present).retireAll located)
  | resetTiming present =>
      exact sane.setRegistry present (sane.registry present).resetTiming
  | resetPeak present =>
      exact sane.setRegistry present (sane.registry present).resetPeak

end SignalDispatch.Bus
