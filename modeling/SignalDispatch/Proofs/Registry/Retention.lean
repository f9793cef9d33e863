import SignalDispatch.Proofs.Registry.Admission
import SignalDispatch.Proofs.Registry.Emission

/-!
# What a change of a registry keeps

Every change of a registry, whatever it does, keeps three things.  A registration that is there
afterwards was there before, at the same index and under the same name, unless it is the one that
was just made.  A slot that is stored afterwards was stored before at the same position, and may
have become a tombstone since, unless it is the one that was just connected.  And while a
registration is being emitted its chain only grows.

`Registry.Retains` states this; there is one lemma for each kind of change.
-/

namespace SignalDispatch

/-- One slot is another one as it was, or with a tombstone put on it. -/
def Slot.Outlasts (later earlier : Slot) : Prop :=
  later = earlier ∨ later = earlier.buried

namespace Slot.Outlasts

variable {later middle earlier : Slot}

theorem refl (slot : Slot) : slot.Outlasts slot :=
  Or.inl rfl

theorem handle_eq (outlasts : later.Outlasts earlier) : later.handle = earlier.handle := by
  rcases outlasts with rfl | rfl <;> rfl

theorem priority_eq (outlasts : later.Outlasts earlier) : later.priority = earlier.priority := by
  rcases outlasts with rfl | rfl <;> rfl

/-- A tombstone stays one. -/
theorem removed_of_removed (outlasts : later.Outlasts earlier) (gone : earlier.removed = true) :
    later.removed = true := by
  rcases outlasts with rfl | rfl
  · exact gone
  · rfl

theorem live_of_live (outlasts : later.Outlasts earlier) (live : later.removed = false) :
    earlier.removed = false := by
  cases marked : earlier.removed with
  | false => rfl
  | true => rw [outlasts.removed_of_removed marked] at live; cases live

theorem trans (second : later.Outlasts middle) (first : middle.Outlasts earlier) :
    later.Outlasts earlier := by
  rcases first with rfl | rfl
  · exact second
  · rcases second with rfl | rfl <;> exact Or.inr rfl

/-- Where a slot stands among others does not depend on tombstones. -/
theorem before_iff
    {other kept : Slot}
    (left : later.Outlasts earlier)
    (right : other.Outlasts kept) :
    later.Before other ↔ earlier.Before kept := by
  rw [Slot.Before, Slot.Before, left.priority_eq, right.priority_eq, left.handle_eq,
    right.handle_eq]

end Slot.Outlasts

namespace Registry

/-- What a change keeps; `depth` is what it does to the depths, `handle` and `serial` number what
it may add, if anything. -/
structure Retains
    (depth : Nat → Nat → Nat)
    (handle serial : Option Nat)
    (before after : Registry) : Prop where
  signals :
    ∀ {index signal}, after.signalAt index = some signal →
      (∃ earlier, before.signalAt index = some earlier ∧ signal.serial = earlier.serial ∧
        signal.name = earlier.name ∧ signal.emitting = depth index earlier.emitting) ∨
      (serial = some signal.serial ∧ signal.emitting = 0)
  slots :
    ∀ {position slot}, contentAt after.slots position = some slot →
      (∃ earlier, contentAt before.slots position = some earlier ∧ slot.Outlasts earlier) ∨
      (contentAt before.slots position = none ∧ handle = some slot.handle.number ∧
        slot.removed = false)
  chains :
    ∀ {index earlier signal},
      before.signalAt index = some earlier → after.signalAt index = some signal →
        earlier.emitting ≠ 0 → signal.emitting ≠ 0 →
          (before.chain index).Sublist (after.chain index)

/-- Depths that stay as they are. -/
def sameDepth (_ depth : Nat) : Nat :=
  depth

namespace Retains

variable {before middle after : Registry} {handle serial : Option Nat} {index : Nat}

/-- The same signals, slots and chains. -/
theorem of_views
    (signals : after.signalAt = before.signalAt)
    (slots : contentAt after.slots = contentAt before.slots)
    (chain : after.chain = before.chain) :
    Retains sameDepth handle serial before after where
  signals := by
    intro index signal present
    rw [signals] at present
    exact Or.inl ⟨signal, present, rfl, rfl, rfl⟩
  slots := by
    intro position slot found
    rw [slots] at found
    exact Or.inl ⟨slot, found, .refl slot⟩
  chains := by
    intro index earlier signal _ _ _ _
    rw [chain]

/-- Slots leave a chain, but not while its signal is being emitted. -/
theorem of_detaches
    {change : Signal → Signal}
    {kept gone : List Nat}
    (detaches : Detaches before after index change kept gone)
    (recounts : Recounts change)
    (idle : ∀ signal, before.signalAt index = some signal → signal.emitting = 0) :
    Retains sameDepth handle serial before after where
  signals := by
    intro other signal present
    rcases recounts.signal_before detaches.signals present with
      ⟨earlier, found, name, serial, same⟩
    refine Or.inl ⟨earlier, found, serial, name, ?_⟩
    rw [same]
    split
    · exact (recounts earlier).2.2
    · rfl
  slots := by
    intro position slot found
    exact Or.inl ⟨slot, (detaches.slot_before found).2, .refl slot⟩
  chains := by
    intro other earlier signal present _ busy _
    rw [detaches.chain]
    by_cases same : other = index
    · subst same
      exact absurd (idle earlier present) busy
    · rw [Function.update_of_ne same]

/-- Slots become tombstones. -/
theorem of_buries
    {change : Signal → Signal}
    {marked : List Nat}
    (buries : Buries before after index change marked)
    (recounts : Recounts change) :
    Retains sameDepth handle serial before after where
  signals := by
    intro other signal present
    rcases recounts.signal_before buries.signals present with
      ⟨earlier, found, name, serial, same⟩
    refine Or.inl ⟨earlier, found, serial, name, ?_⟩
    rw [same]
    split
    · exact (recounts earlier).2.2
    · rfl
  slots := by
    intro position slot found
    rcases buries.slot_before found with ⟨earlier, present, same⟩
    refine Or.inl ⟨earlier, present, ?_⟩
    rw [same]
    split
    · exact Or.inr rfl
    · exact .refl earlier
  chains := by
    intro other earlier signal _ _ _ _
    rw [buries.chain]

/-- Signals change in place. -/
theorem of_adjusts
    {change : Nat → Signal → Signal}
    {depth : Nat → Nat → Nat}
    (adjusts : Adjusts before after change)
    (keeps : Keeps change)
    (depths : ∀ index signal, (change index signal).emitting = depth index signal.emitting) :
    Retains depth handle serial before after where
  signals := by
    intro other signal present
    rw [adjusts.signals] at present
    rcases Option.map_eq_some_iff.mp present with ⟨earlier, found, rfl⟩
    exact Or.inl
      ⟨earlier, found, (keeps other earlier).2.1, (keeps other earlier).1, depths other earlier⟩
  slots := by
    intro position slot found
    rw [adjusts.slots] at found
    exact Or.inl ⟨slot, found, .refl slot⟩
  chains := by
    intro other earlier signal _ _ _ _
    rw [adjusts.chain]

/-- After signals changed in place, what keeps the depths keeps everything as before. -/
theorem after_adjusts
    {change : Nat → Signal → Signal}
    {depth : Nat → Nat → Nat}
    (adjusts : Adjusts before middle change)
    (keeps : Keeps change)
    (depths : ∀ index signal, (change index signal).emitting = depth index signal.emitting)
    (retains : Retains sameDepth handle serial middle after)
    (known : ∀ {index signal}, after.signalAt index = some signal →
      (middle.signalAt index).isSome) :
    Retains depth handle serial before after where
  signals := by
    intro other signal present
    rcases retains.signals present with ⟨between, found, serial, name, emitting⟩ | fresh
    · rw [adjusts.signals] at found
      rcases Option.map_eq_some_iff.mp found with ⟨earlier, first, rfl⟩
      rw [(keeps other earlier).2.1] at serial
      rw [(keeps other earlier).1] at name
      exact Or.inl ⟨earlier, first, serial, name, emitting.trans (depths other earlier)⟩
    · exact Or.inr fresh
  slots := by
    intro position slot found
    have kept := retains.slots found
    rw [adjusts.slots] at kept
    exact kept
  chains := by
    intro other earlier signal first present _ busy
    rcases Option.isSome_iff_exists.mp (known present) with ⟨between, found⟩
    rw [← adjusts.chain]
    refine retains.chains found present ?_ busy
    rcases retains.signals present with ⟨same, again, _, _, emitting⟩ | fresh
    · rw [found, Option.some.injEq] at again
      subst again
      exact fun idle => busy (emitting.trans idle)
    · exact absurd fresh.2 busy

/-- A signal leaves with its slots. -/
theorem of_drops (drops : Drops before after index) :
    Retains sameDepth handle serial before after where
  signals := by
    intro other signal present
    rw [drops.signals] at present
    split at present
    · cases present
    · exact Or.inl ⟨signal, present, rfl, rfl, rfl⟩
  slots := by
    intro position slot found
    rw [drops.slots] at found
    split at found
    · cases found
    · exact Or.inl ⟨slot, found, .refl slot⟩
  chains := by
    intro other earlier signal _ present _ _
    rw [drops.signals] at present
    split at present
    · cases present
    next different => rw [drops.chain, Function.update_of_ne (Ne.symm different)]

/-- A slot joins a chain. -/
theorem of_attaches
    {slot : Slot}
    {position : Nat}
    (attaches : Attaches before after index slot position)
    (issued : handle = some slot.handle.number)
    (live : slot.removed = false) :
    Retains sameDepth handle serial before after where
  signals := by
    intro other signal present
    rw [attaches.signals] at present
    split at present
    · rcases Option.map_eq_some_iff.mp present with ⟨earlier, found, rfl⟩
      exact Or.inl ⟨earlier, found, rfl, rfl, rfl⟩
    · exact Or.inl ⟨signal, present, rfl, rfl, rfl⟩
  slots := by
    intro other content found
    rw [attaches.slots] at found
    split at found
    next same =>
      rw [Option.some.injEq] at found
      subst same found
      exact Or.inr ⟨attaches.vacant, issued, live⟩
    next => exact Or.inl ⟨content, found, .refl content⟩
  chains := by
    intro other earlier signal _ _ _ _
    rw [attaches.chain]
    by_cases same : other = index
    · subst same
      rw [Function.update_self, ordered]
      have parts :=
        List.takeWhile_append_dropWhile (p := precedes before.slots slot.priority)
          (l := before.chain other)
      have grows :=
        (List.Sublist.refl
          ((before.chain other).takeWhile (precedes before.slots slot.priority))).append
          (List.sublist_cons_self position
            ((before.chain other).dropWhile (precedes before.slots slot.priority)))
      rw [parts] at grows
      exact grows
    · rw [Function.update_of_ne same]

/-- A signal is registered. -/
theorem of_register
    {name : String}
    {description : Option String}
    {priority : Priority}
    {drawn : Nat}
    (formed : before.WellFormed)
    (registered : before.register name description priority drawn = .ok after) :
    Retains sameDepth handle (some drawn) before after where
  signals := by
    intro other signal present
    rcases register_spec formed registered with ⟨_, _, _, _, index, _, view⟩
    rw [signalAt, view] at present
    split at present
    · rw [Option.map_some, Option.some.injEq] at present
      subst present
      exact Or.inr ⟨rfl, rfl⟩
    · exact Or.inl ⟨signal, present, rfl, rfl, rfl⟩
  slots := by
    intro position slot found
    rw [(register_spec formed registered).2.1] at found
    exact Or.inl ⟨slot, found, .refl slot⟩
  chains := by
    intro other earlier signal _ _ _ _
    rw [(register_chained formed registered).chain_eq]

end Retains

/-- A well-formed registry whose idle signals have no tombstones. -/
structure Sane (registry : Registry) : Prop where
  formed : registry.WellFormed
  settled : registry.Settled

namespace Sane

variable {registry after : Registry} {handle serial : Option Nat}

theorem empty (signals slots : StoragePolicy) : (Registry.empty signals slots).Sane :=
  ⟨wellFormed_empty signals slots, settled_empty signals slots⟩

/-- Idle signals stay without tombstones if every signal that is idle now either has none or was
there, idle, with as many. -/
theorem settled_of
    (sane : registry.Sane)
    (signals :
      ∀ {index signal}, after.signalAt index = some signal → signal.emitting = 0 →
        signal.tombstones = 0 ∨
          ∃ earlier, registry.signalAt index = some earlier ∧ earlier.emitting = 0 ∧
            signal.tombstones = earlier.tombstones) :
    after.Settled := by
  intro index signal present idle
  rcases signals present idle with clean | ⟨earlier, found, quiet, same⟩
  · exact clean
  · exact same.trans (sane.settled found quiet)

theorem register
    {name : String}
    {description : Option String}
    {priority : Priority}
    {drawn : Nat}
    (sane : registry.Sane)
    (fresh : ∀ index signal, registry.signalAt index = some signal → signal.serial < drawn)
    (registered : registry.register name description priority drawn = .ok after) :
    after.Sane ∧ Retains sameDepth handle (some drawn) registry after := by
  refine ⟨⟨sane.formed.register fresh registered, ?_⟩, .of_register sane.formed registered⟩
  refine sane.settled_of ?_
  intro index signal present idle
  rcases register_spec sane.formed registered with ⟨_, _, _, _, place, _, view⟩
  rw [signalAt, view] at present
  split at present
  · rw [Option.map_some, Option.some.injEq] at present
    subst present
    exact Or.inl rfl
  · exact Or.inr ⟨signal, present, idle, rfl⟩

theorem unregister
    {name : String}
    {released : List Slot}
    (sane : registry.Sane)
    (done : registry.unregister name = .ok (after, released)) :
    after.Sane ∧ Retains sameDepth handle serial registry after := by
  rcases sane.formed.unregister done with ⟨index, signal, _, _, drops, formed, _⟩
  refine ⟨⟨formed, sane.settled_of ?_⟩, .of_drops drops⟩
  intro other found present idle
  rw [drops.signals] at present
  split at present
  · cases present
  · exact Or.inr ⟨found, present, idle, rfl⟩

theorem attach
    {name : String}
    {index : Nat}
    {slot : Slot}
    (sane : registry.Sane)
    (located : registry.find? name = some index)
    (live : slot.removed = false)
    (latest :
      ∀ position other, contentAt registry.slots position = some other →
        other.handle.number < slot.handle.number)
    (attached : registry.attach index slot = .ok after) :
    after.Sane ∧ Retains sameDepth (some slot.handle.number) serial registry after := by
  rcases signalAt_of_find? located with ⟨signal, registered, _⟩
  rcases sane.formed.attach registered live latest attached with ⟨formed, position, attaches⟩
  refine ⟨⟨formed, sane.settled_of ?_⟩, .of_attaches attaches rfl live⟩
  intro other found present idle
  rw [attaches.signals] at present
  split at present
  · rcases Option.map_eq_some_iff.mp present with ⟨before, there, rfl⟩
    exact Or.inr ⟨before, there, idle, rfl⟩
  · exact Or.inr ⟨found, present, idle, rfl⟩

/-- The slots of an idle signal leave its chain. -/
theorem detach
    {index : Nat}
    {signal : Signal}
    {change : Signal → Signal}
    {kept gone : List Nat}
    (sane : registry.Sane)
    (registered : registry.signals.get? index = some signal)
    (idle : signal.emitting = 0)
    (formed : after.WellFormed)
    (detaches : Detaches registry after index change kept gone)
    (recounts : Recounts change)
    (fewer : ∀ signal, (change signal).tombstones ≤ signal.tombstones) :
    after.Sane ∧ Retains sameDepth handle serial registry after := by
  have view : registry.signalAt index = some signal.content :=
    signalAt_of_get? registered
  have quiet : ∀ found, registry.signalAt index = some found → found.emitting = 0 := by
    intro found present
    rw [view, Option.some.injEq] at present
    rw [← present, Signal.content_emitting, idle]
  refine ⟨⟨formed, sane.settled_of ?_⟩, .of_detaches detaches recounts quiet⟩
  intro other found present silent
  rw [detaches.signals] at present
  split at present
  next same =>
    subst same
    rw [view, Option.map_some, Option.some.injEq] at present
    have settled := sane.settled view idle
    have bound := fewer signal.content
    rw [present, settled] at bound
    exact Or.inl (Nat.le_zero.mp bound)
  next => exact Or.inr ⟨found, present, silent, rfl⟩

/-- Slots of a signal that is being emitted become tombstones. -/
theorem bury
    {index : Nat}
    {signal : Signal}
    {change : Signal → Signal}
    {marked : List Nat}
    (sane : registry.Sane)
    (registered : registry.signals.get? index = some signal)
    (busy : signal.emitting ≠ 0)
    (formed : after.WellFormed)
    (buries : Buries registry after index change marked)
    (recounts : Recounts change) :
    after.Sane ∧ Retains sameDepth handle serial registry after := by
  refine ⟨⟨formed, sane.settled_of ?_⟩, .of_buries buries recounts⟩
  intro other found present silent
  rw [buries.signals] at present
  split at present
  next same =>
    subst same
    have view : registry.signalAt index = some signal.content :=
      signalAt_of_get? registered
    rw [view, Option.map_some, Option.some.injEq] at present
    rw [← present, (recounts signal.content).2.2] at silent
    exact absurd silent busy
  next => exact Or.inr ⟨found, present, silent, rfl⟩

/-- A removal keeps a registry sane and retains what is walked. -/
theorem retires
    {index : Nat}
    {kept gone : List Nat}
    {left marked : Signal → Signal}
    (sane : registry.Sane)
    (retires : Retires registry after index kept gone left marked)
    (leaving : Recounts left)
    (marking : Recounts marked)
    (fewer : ∀ signal, (left signal).tombstones ≤ signal.tombstones) :
    after.Sane ∧ Retains sameDepth handle serial registry after := by
  cases retires with
  | idle registered idle detaches formed =>
      exact sane.detach registered idle formed detaches leaving fewer
  | busy registered busy buries formed =>
      exact sane.bury registered busy formed buries marking

theorem retire
    {index position : Nat}
    {accepts : Slot → Bool}
    (sane : registry.Sane)
    (first : registry.firstLive? index accepts = some position) :
    (registry.retire index position).1.Sane ∧
      Retains sameDepth handle serial registry (registry.retire index position).1 :=
  sane.retires (sane.formed.retires first) (fun _ => ⟨rfl, rfl, rfl⟩) (fun _ => ⟨rfl, rfl, rfl⟩)
    fun _ => Nat.le_refl _

theorem retireAll
    {name : String}
    {index : Nat}
    (sane : registry.Sane)
    (located : registry.find? name = some index) :
    (registry.retireAll index).2.1.Sane ∧
      Retains sameDepth handle serial registry (registry.retireAll index).2.1 :=
  sane.retires (sane.formed.retiresAll located) (fun _ => ⟨rfl, rfl, rfl⟩)
    (fun _ => ⟨rfl, rfl, rfl⟩) fun _ => Nat.zero_le _

/-- Signals change in place, their depths and tombstones apart from nothing. -/
theorem resetTiming (sane : registry.Sane) :
    registry.resetTiming.Sane ∧
      Retains sameDepth handle serial registry registry.resetTiming := by
  rcases sane.formed.resetTiming with ⟨adjusts, formed⟩
  refine ⟨⟨formed, sane.settled_of ?_⟩,
    .of_adjusts adjusts (fun _ _ => ⟨rfl, rfl, rfl, rfl⟩) fun _ _ => rfl⟩
  intro index signal present idle
  rw [adjusts.signals] at present
  rcases Option.map_eq_some_iff.mp present with ⟨earlier, found, rfl⟩
  exact Or.inr ⟨earlier, found, idle, rfl⟩

/-- A registry that differs in its peak only. -/
theorem resetPeak (sane : registry.Sane) :
    registry.resetPeak.Sane ∧
      Retains sameDepth handle serial registry registry.resetPeak := by
  refine ⟨⟨?_, sane.settled⟩, .of_views rfl rfl rfl⟩
  exact
    { signals_sound := sane.formed.signals_sound
      slots_sound := sane.formed.slots_sound
      chained := sane.formed.chained.of_signals rfl fun _ => rfl
      covered := sane.formed.covered
      ordered := sane.formed.ordered
      live_eq := sane.formed.live_eq
      tombstones_eq := sane.formed.tombstones_eq
      names_apart := sane.formed.names_apart
      serials_apart := sane.formed.serials_apart
      handles_apart := sane.formed.handles_apart }

/-! ### Emissions -/

/-- One emission more at an index. -/
def deeper (index other depth : Nat) : Nat :=
  if index = other then depth + 1 else depth

/-- One emission fewer at an index. -/
def shallower (index other depth : Nat) : Nat :=
  if index = other then depth - 1 else depth

theorem beginEmission
    {name : String}
    {signalRef : SignalRef}
    {head : Option Nat}
    (sane : registry.Sane)
    (begun : registry.beginEmission name = .ok (after, signalRef, head)) :
    after.Sane ∧ Retains (deeper signalRef.index) handle serial registry after := by
  rcases sane.formed.beginEmission begun with ⟨_, _, _, adjusts, formed⟩
  have depths : ∀ other signal,
      (onlyAt signalRef.index entered other signal).emitting =
        deeper signalRef.index other signal.emitting := by
    intro other signal
    rw [onlyAt, deeper]
    split <;> rfl
  refine ⟨⟨formed, sane.settled_of ?_⟩,
    .of_adjusts adjusts (keeps_onlyAt fun _ => ⟨rfl, rfl, rfl, rfl⟩) depths⟩
  intro index signal present idle
  rw [adjusts.signals] at present
  rcases Option.map_eq_some_iff.mp present with ⟨earlier, found, rfl⟩
  rw [onlyAt] at idle ⊢
  split at idle
  · cases idle
  next other => exact Or.inr ⟨earlier, found, idle, by rw [if_neg other]⟩

theorem endEmission
    {signalRef : SignalRef}
    {signal : Signal}
    (sane : registry.Sane)
    (resolved : registry.resolve? signalRef = some signal)
    (elapsed : Option Nat) :
    (registry.endEmission signalRef elapsed).1.Sane ∧
      Retains (shallower signalRef.index) handle serial registry
        (registry.endEmission signalRef elapsed).1 := by
  rcases sane.formed.endEmission resolved elapsed with
    ⟨left, adjusts, formed, present, ended⟩
  have keeps : Keeps (onlyAt signalRef.index (exited elapsed)) :=
    keeps_onlyAt fun _ => ⟨rfl, rfl, rfl, rfl⟩
  have depths : ∀ other found,
      (onlyAt signalRef.index (exited elapsed) other found).emitting =
        shallower signalRef.index other found.emitting := by
    intro other found
    rw [onlyAt, shallower]
    split <;> rfl
  have settled : (left.sweep signalRef.index).1.Settled := by
    refine formed.settled_sweep present ?_
    intro other found different there idle
    rw [adjusts.signals] at there
    rcases Option.map_eq_some_iff.mp there with ⟨earlier, first, rfl⟩
    rw [onlyAt, if_neg (Ne.symm different)] at idle ⊢
    exact sane.settled first idle
  rw [ended]
  by_cases due :
      (exited elapsed signal).emitting = 0 ∧ 0 < (exited elapsed signal).tombstones
  · rcases formed.sweep present due with ⟨detaches, formedAfter, _⟩
    refine ⟨⟨formedAfter, settled⟩, .after_adjusts adjusts keeps depths ?_ ?_⟩
    · refine .of_detaches detaches (fun _ => ⟨rfl, rfl, rfl⟩) ?_
      intro found view
      rcases (signalAt_eq_some_iff _ _ _).mp view with ⟨stored, there, rfl⟩
      rw [present, Option.some.injEq] at there
      rw [← there, Signal.content_emitting, due.1]
    · intro other found there
      have view := detaches.signals other
      rw [there] at view
      split at view
      · exact Option.isSome_of_eq_some (Option.map_eq_some_iff.mp view.symm).choose_spec.1
      · exact Option.isSome_of_eq_some view.symm
  · rw [sweep_of_not present due] at settled ⊢
    exact ⟨⟨formed, settled⟩, .of_adjusts adjusts keeps depths⟩

end Sane

end Registry

end SignalDispatch
