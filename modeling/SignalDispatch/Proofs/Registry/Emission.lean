import SignalDispatch.Proofs.Registry.Removal
import SignalDispatch.Registry.Report
import SignalDispatch.Registry.Walk

/-!
# Entering and leaving an emission

An emission that enters or leaves a signal changes the depth of that signal, and its timing; no
chain and no slot changes.  The emission that brings the depth back to zero sweeps the tombstones.
So a signal that is not being emitted never has any, which `Registry.Settled` says.
-/

namespace SignalDispatch.Registry

/-! ## Changes that leave the chains alone -/

/-- Signals change in place, but not what they are known by, nor the sizes of their chains. -/
structure Adjusts (before after : Registry) (change : Nat → Signal → Signal) : Prop where
  signals :
    ∀ other, after.signalAt other = (before.signalAt other).map (change other)
  slots : after.slots = before.slots
  chain : after.chain = before.chain

/-- A change that keeps what a signal is known by and the sizes of its chain. -/
def Keeps (change : Nat → Signal → Signal) : Prop :=
  ∀ index signal,
    (change index signal).name = signal.name ∧ (change index signal).serial = signal.serial ∧
      (change index signal).live = signal.live ∧
      (change index signal).tombstones = signal.tombstones

theorem Adjusts.contents_eq
    {before after : Registry}
    {change : Nat → Signal → Signal}
    (adjusts : Adjusts before after change)
    (index : Nat) :
    after.contents index = before.contents index := by
  rw [contents, adjusts.slots, adjusts.chain, contents]

/-- Adjusting signals keeps a registry well formed. -/
theorem WellFormed.adjust
    {before after : Registry}
    (formed : before.WellFormed)
    {change : Nat → Signal → Signal}
    (keeps : Keeps change)
    (slots : after.slots = before.slots)
    (signals : ∀ other, after.signals.get? other = (before.signals.get? other).map (change other))
    (links : ∀ index signal, (change index signal).content = change index signal.content)
    (heads : ∀ index signal, (change index signal).head = signal.head)
    (sound : after.signals.Sound) :
    Adjusts before after change ∧ after.WellFormed := by
  have chained : after.Chained before.chain := by
    refine formed.chained.of_signals slots ?_
    intro other
    rw [signals, Option.map_map]
    exact Option.map_congr fun signal _ => heads other signal
  have view (other : Nat) : after.signalAt other = (before.signalAt other).map (change other) := by
    rw [signalAt, signals, Option.map_map, signalAt, Option.map_map]
    exact Option.map_congr fun signal _ => links other signal
  have chain := chained.chain_eq
  have earlier {other : Nat} {found : Signal} (present : after.signalAt other = some found) :
      ∃ signal, before.signalAt other = some signal ∧ change other signal = found := by
    rw [view] at present
    exact Option.map_eq_some_iff.mp present
  have handles := @formed.handles_apart
  have covered := @formed.covered
  rw [← slots] at handles covered
  refine ⟨⟨view, slots, chain⟩, ?_⟩
  refine .of_chained chained sound (slots ▸ formed.slots_sound) covered ?_ ?_ ?_ ?_ ?_ handles
  · rw [slots]
    exact formed.ordered
  · intro other found present
    rcases earlier present with ⟨signal, registered, rfl⟩
    rw [slots, (keeps other signal).2.2.1]
    exact formed.live_eq registered
  · intro other found present
    rcases earlier present with ⟨signal, registered, rfl⟩
    rw [slots, (keeps other signal).2.2.2]
    exact formed.tombstones_eq registered
  · intro left right first second leftPresent rightPresent same
    rcases earlier leftPresent with ⟨leftSignal, leftFound, rfl⟩
    rcases earlier rightPresent with ⟨rightSignal, rightFound, rfl⟩
    rw [(keeps _ _).1, (keeps _ _).1] at same
    exact formed.names_apart leftFound rightFound same
  · intro left right first second leftPresent rightPresent same
    rcases earlier leftPresent with ⟨leftSignal, leftFound, rfl⟩
    rcases earlier rightPresent with ⟨rightSignal, rightFound, rfl⟩
    rw [(keeps _ _).2.1, (keeps _ _).2.1] at same
    exact formed.serials_apart leftFound rightFound same

/-- A change of the signal at one index. -/
def onlyAt (index : Nat) (change : Signal → Signal) (other : Nat) (signal : Signal) : Signal :=
  if index = other then change signal else signal

theorem keeps_onlyAt
    {index : Nat}
    {change : Signal → Signal}
    (kept :
      ∀ signal,
        (change signal).name = signal.name ∧ (change signal).serial = signal.serial ∧
          (change signal).live = signal.live ∧ (change signal).tombstones = signal.tombstones) :
    Keeps (onlyAt index change) := by
  intro other signal
  unfold onlyAt
  split
  · exact kept signal
  · exact ⟨rfl, rfl, rfl, rfl⟩

/-- Adjusting one signal keeps a registry well formed. -/
theorem WellFormed.adjustAt
    {before : Registry}
    (formed : before.WellFormed)
    (index : Nat)
    (change : Signal → Signal)
    (kept :
      ∀ signal,
        (change signal).name = signal.name ∧ (change signal).serial = signal.serial ∧
          (change signal).live = signal.live ∧ (change signal).tombstones = signal.tombstones)
    (links : ∀ signal, (change signal).content = change signal.content)
    (heads : ∀ signal, (change signal).head = signal.head) :
    let after : Registry :=
      { before with signals := before.signals.modify index change }
    Adjusts before after (onlyAt index change) ∧ after.WellFormed := by
  intro after
  refine formed.adjust (keeps_onlyAt kept) rfl ?_ ?_ ?_ (formed.signals_sound.modify _ _)
  · intro other
    rw [Arena.get?_modify]
    cases before.signals.get? other with
    | none => split <;> rfl
    | some signal =>
        rw [Option.map_some, Option.map_some, onlyAt]
        split <;> rfl
  · intro other signal
    unfold onlyAt
    split
    · exact links signal
    · rfl
  · intro other signal
    unfold onlyAt
    split
    · exact heads signal
    · rfl

/-! ## Entering -/

/-- A signal that one more emission walks. -/
def entered (signal : Signal) : Signal :=
  { signal with emitting := signal.emitting + 1 }

/-- The signal that an emission enters, and the link that it starts with. -/
theorem beginEmission_signal
    {registry after : Registry}
    {name : String}
    {signalRef : SignalRef}
    {head : Option Nat}
    (begun : registry.beginEmission name = .ok (after, signalRef, head)) :
    ∃ signal,
      after.signals.get? signalRef.index = some (entered signal) ∧
        signal.serial = signalRef.serial ∧ signal.head = head := by
  rw [Registry.beginEmission, lookup] at begun
  cases located : registry.find? name with
  | none => simp [located] at begun
  | some index =>
      rcases registered_of_find? located with ⟨signal, present, _⟩
      simp only [located, present, Except.ok.injEq, Prod.mk.injEq] at begun
      rcases begun with ⟨rfl, rfl, rfl⟩
      refine ⟨signal, ?_, rfl, rfl⟩
      rw [Arena.get?_modify, if_pos rfl, present]
      rfl

/-- An emission enters the signal of its name; it starts at the head of the chain. -/
theorem WellFormed.beginEmission
    {registry after : Registry}
    (formed : registry.WellFormed)
    {name : String}
    {signalRef : SignalRef}
    {head : Option Nat}
    (begun : registry.beginEmission name = .ok (after, signalRef, head)) :
    registry.find? name = some signalRef.index ∧
      head = (registry.chain signalRef.index).head? ∧
      (∃ signal,
        registry.signals.get? signalRef.index = some signal ∧
          signal.serial = signalRef.serial ∧ signal.name = name) ∧
      Adjusts registry after (onlyAt signalRef.index entered) ∧ after.WellFormed := by
  rw [Registry.beginEmission, lookup] at begun
  cases located : registry.find? name with
  | none => simp [located] at begun
  | some index =>
      rcases registered_of_find? located with ⟨signal, present, named⟩
      simp only [located, present, Except.ok.injEq, Prod.mk.injEq] at begun
      rcases begun with ⟨rfl, rfl, rfl⟩
      rcases formed.adjustAt index entered (fun _ => ⟨rfl, rfl, rfl, rfl⟩)
        (fun _ => rfl) (fun _ => rfl) with ⟨adjusts, formedAfter⟩
      exact ⟨rfl, formed.head_eq present, ⟨signal, present, rfl, named⟩, adjusts, formedAfter⟩

/-! ## Leaving -/

/-- A signal that one emission fewer walks, with the time that emission took if it was taken. -/
def exited (elapsed : Option Nat) (signal : Signal) : Signal :=
  { signal with
    emitting := signal.emitting - 1
    timing :=
      match elapsed with
      | none => signal.timing
      | some elapsed => signal.timing.record elapsed }

/-- An emission that leaves a registration lowers its depth and sweeps it. -/
theorem WellFormed.endEmission
    {registry : Registry}
    (formed : registry.WellFormed)
    {signalRef : SignalRef}
    {signal : Signal}
    (resolved : registry.resolve? signalRef = some signal)
    (elapsed : Option Nat) :
    ∃ left : Registry,
      Adjusts registry left (onlyAt signalRef.index (exited elapsed)) ∧ left.WellFormed ∧
        left.signals.get? signalRef.index = some (exited elapsed signal) ∧
        registry.endEmission signalRef elapsed = left.sweep signalRef.index := by
  rcases formed.adjustAt signalRef.index (exited elapsed)
    (fun _ => ⟨rfl, rfl, rfl, rfl⟩) (fun _ => rfl) (fun _ => rfl) with ⟨adjusts, formedAfter⟩
  refine ⟨_, adjusts, formedAfter, ?_, ?_⟩
  · rw [Arena.get?_modify, if_pos rfl, ((resolve?_eq_some_iff _ _ _).mp resolved).1]
    rfl
  · rw [Registry.endEmission, resolved]
    rfl

/-! ## Idle signals -/

theorem settled_empty (signals slots : StoragePolicy) : (empty signals slots).Settled := by
  intro index signal registered
  rw [signalAt_empty] at registered
  cases registered

/-- Sweeping a signal after its depth was lowered leaves all idle signals without tombstones. -/
theorem WellFormed.settled_sweep
    {registry : Registry}
    (formed : registry.WellFormed)
    {index : Nat}
    {signal : Signal}
    (registered : registry.signals.get? index = some signal)
    (others :
      ∀ other found, other ≠ index → registry.signalAt other = some found →
        found.emitting = 0 → found.tombstones = 0) :
    (registry.sweep index).1.Settled := by
  intro other found present idle
  by_cases due : signal.emitting = 0 ∧ 0 < signal.tombstones
  · have view := (formed.sweep registered due).1.signals other
    rw [present] at view
    split at view
    next same =>
      rcases Option.map_eq_some_iff.mp view.symm with ⟨earlier, _, rfl⟩
      rfl
    next different => exact others other found (Ne.symm different) view.symm idle
  · rw [sweep_of_not registered due] at present
    by_cases same : other = index
    · subst same
      rcases (signalAt_eq_some_iff _ _ _).mp present with ⟨stored, stillThere, rfl⟩
      rw [registered, Option.some.injEq] at stillThere
      subst stillThere
      rw [Signal.content_emitting] at idle
      rw [Signal.content_tombstones]
      omega
    · exact others other found same present idle

/-- Forgetting all timing adjusts every signal. -/
theorem WellFormed.resetTiming
    {registry : Registry}
    (formed : registry.WellFormed) :
    Adjusts registry registry.resetTiming (fun _ signal => { signal with timing := {} }) ∧
      registry.resetTiming.WellFormed :=
  formed.adjust (fun _ _ => ⟨rfl, rfl, rfl, rfl⟩) rfl
    (fun other => Arena.get?_map registry.signals _ other) (fun _ _ => rfl) (fun _ _ => rfl)
    (formed.signals_sound.map _)

end SignalDispatch.Registry
