import SignalDispatch.Proofs.Registry.Emission

/-!
# What leaving an emission does

An emission that leaves a registration lowers its depth by one.  As long as other emissions of the
registration remain, its slots stay as they are, tombstones included; the last one to leave takes
all tombstones out.  Other signals are not touched.
-/

namespace SignalDispatch.Registry

/-- An emission of the signal at an index has left it. -/
structure Leaves (before after : Registry) (index : Nat) (signal later : Signal) : Prop where
  found : before.signalAt index = some signal
  remains : after.signalAt index = some later
  identity :
    later.name = signal.name ∧ later.description = signal.description ∧
      later.priority = signal.priority ∧ later.serial = signal.serial ∧ later.live = signal.live
  depth : later.emitting = signal.emitting - 1
  /-- Other emissions still walk the chain. -/
  walked :
    later.emitting ≠ 0 →
      later.tombstones = signal.tombstones ∧ after.contents index = before.contents index
  /-- No emission walks the chain any more, and its tombstones are gone. -/
  swept :
    later.emitting = 0 →
      later.tombstones = 0 ∧
        after.contents index = (before.contents index).filter fun slot => !slot.removed
  others :
    ∀ other, other ≠ index →
      after.signalAt other = before.signalAt other ∧ after.contents other = before.contents other

/-- A signal that is swept keeps its live slots, and has no tombstones afterwards. -/
theorem WellFormed.sweep_idle
    {registry : Registry}
    {index : Nat}
    {signal : Signal}
    (formed : registry.WellFormed)
    (registered : registry.signals.get? index = some signal)
    (idle : signal.emitting = 0) :
    (registry.sweep index).1.signalAt index = some { signal.content with tombstones := 0 } ∧
      (registry.sweep index).1.contents index =
        (registry.contents index).filter (fun slot => !slot.removed) ∧
      ∀ other, other ≠ index →
        (registry.sweep index).1.signalAt other = registry.signalAt other ∧
          (registry.sweep index).1.contents other = registry.contents other := by
  have view := signalAt_of_get? registered
  by_cases marked : 0 < signal.tombstones
  · rcases formed.sweep registered ⟨idle, marked⟩ with ⟨detaches, _, kept, _⟩
    refine ⟨?_, kept, ?_⟩
    · rw [detaches.signals, if_pos rfl, view]
      rfl
    · intro other different
      rw [detaches.signals, if_neg (Ne.symm different), detaches.contents_eq formed,
        if_neg (Ne.symm different)]
      exact ⟨rfl, rfl⟩
  · have clean : signal.tombstones = 0 := Nat.eq_zero_of_not_pos marked
    have counted := formed.tombstones_eq view
    rw [Signal.content_tombstones, clean, eq_comm, List.countP_eq_zero] at counted
    rw [sweep_of_not registered fun due => marked due.2]
    refine ⟨?_, ?_, fun _ _ => ⟨rfl, rfl⟩⟩
    · rw [view, ← clean]
      rfl
    · refine (List.filter_eq_self.mpr ?_).symm
      intro slot member
      rw [Bool.eq_false_iff.mpr (counted slot member)]
      rfl

/-- What an emission does that leaves a registration. -/
theorem WellFormed.leaves
    {registry : Registry}
    {signalRef : SignalRef}
    {signal : Signal}
    (formed : registry.WellFormed)
    (resolved : registry.resolve? signalRef = some signal)
    (elapsed : Option Nat) :
    ∃ later,
      Leaves registry (registry.endEmission signalRef elapsed).1 signalRef.index signal.content
        later := by
  have found := signalAt_of_get? ((resolve?_eq_some_iff _ _ _).mp resolved).1
  rcases formed.endEmission resolved elapsed with ⟨left, adjusts, formedLeft, present, ended⟩
  have view := signalAt_of_get? present
  have apart (other : Nat) (different : other ≠ signalRef.index) :
      left.signalAt other = registry.signalAt other := by
    rw [adjusts.signals]
    cases registry.signalAt other with
    | none => rfl
    | some found => rw [Option.map_some, onlyAt, if_neg (Ne.symm different)]
  rw [ended]
  by_cases idle : (exited elapsed signal).emitting = 0
  · rcases formedLeft.sweep_idle present idle with ⟨swept, kept, others⟩
    refine ⟨_, found, swept, ⟨rfl, rfl, rfl, rfl, rfl⟩, rfl, fun busy => absurd idle busy, ?_, ?_⟩
    · intro _
      rw [kept, adjusts.contents_eq]
      exact ⟨rfl, rfl⟩
    · intro other different
      rw [(others other different).1, (others other different).2, apart other different,
        adjusts.contents_eq]
      exact ⟨rfl, rfl⟩
  · rw [sweep_of_not present fun due => idle due.1]
    refine ⟨_, found, view, ⟨rfl, rfl, rfl, rfl, rfl⟩, rfl, ?_, fun ends => absurd ends idle, ?_⟩
    · intro _
      rw [adjusts.contents_eq]
      exact ⟨rfl, rfl⟩
    · intro other different
      rw [apart other different, adjusts.contents_eq]
      exact ⟨rfl, rfl⟩

end SignalDispatch.Registry
